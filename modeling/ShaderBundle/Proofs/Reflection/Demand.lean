import ShaderBundle.Proofs.Reflection.Description

/-!
# What a reader asks of a document

A reader goes through a document in a fixed order and asks something of each value that it meets: to be an object, a
list, a whole number, a text, the name of a type. The first value that is not what it is asked to be is what the
document is refused for.

* `demands`: all that is asked of a document, in order.
* `answer`: the outcome of asking. Its combinations are `bind_answer` and `mapM_answer`.
* `ofDocument_eq`: a reader asks `demands`, and gives what is `described` if nothing is wanting.
-/

namespace ShaderBundle.Reflection

/-! ## Asking -/

/-- What is asked of a value. -/
inductive Demand
  /-- To be an object, or null. -/
  | object (what : String) (value : Json)
  /-- To be a list, or null. -/
  | list (what key : String) (value : Json)
  /-- To be a whole number, if it is there. -/
  | integer (key : String) (found : Option Json)
  /-- To be a text, if it is there. -/
  | text (key : String) (found : Option Json)
  /-- To name a type with a portable equivalent. -/
  | type (name : String)

namespace Demand

def met : Demand → Bool
  | .object _ .null | .object _ (.object _) => true
  | .object _ _ => false
  | .list _ _ .null | .list _ _ (.list _) => true
  | .list _ _ _ => false
  | .integer _ none | .integer _ (some (.integer _)) => true
  | .integer _ (some _) => false
  | .text _ none | .text _ (some (.text _)) => true
  | .text _ (some _) => false
  | .type name => (DataType.ofName? name).isSome

/-- What is wrong where the demand is not met. -/
def problem : Demand → Problem
  | .object what _ => .notObject what
  | .list what key _ => .notList what key
  | .integer key found => .notInteger key (found.getD .null)
  | .text key found => .notText key (found.getD .null)
  | .type name => .unsupportedType name

def integerAt (e : Fields) (key : String) : Demand := .integer key (e.lookup key)

def textAt (e : Fields) (key : String) : Demand := .text key (e.lookup key)

end Demand

/-- The first of these that is not met. -/
def FirstUnmet (ds : List Demand) (d : Demand) : Prop :=
  ∃ asked rest, ds = asked ++ d :: rest ∧ (∀ a ∈ asked, a.met = true) ∧ d.met = false

/-- The outcome of asking these things in order, if `x` is given when all of them are met. -/
def answer {α : Type} (ds : List Demand) (x : α) : Except Problem α :=
  match ds.find? (!·.met) with
  | none => .ok x
  | some d => .error d.problem

section
variable {α β : Type} {ds es : List Demand} {x : α} {y : β}

theorem answer_met {d : Demand} (h : d.met = true) : answer (d :: ds) x = answer ds x := by
  unfold answer
  rw [List.find?_cons_of_neg (by simp [h])]

theorem answer_unmet {d : Demand} (h : d.met = false) : answer (d :: ds) x = .error d.problem := by
  unfold answer
  rw [List.find?_cons_of_pos (by simp [h])]

theorem bind_answer {r : Except Problem α} {f : α → Except Problem β} (hr : r = answer ds x)
    (hf : f x = answer es y) : r >>= f = answer (ds ++ es) y := by
  subst hr
  induction ds with
  | nil => exact hf
  | cons d ds ih =>
    rw [List.cons_append]
    cases h : d.met with
    | true => rw [answer_met h, answer_met h, ih]
    | false =>
      rw [answer_unmet h, answer_unmet h]
      rfl

theorem mapM_answer {f : α → Except Problem β} {asked : α → List Demand} {g : α → β} {xs : List α}
    (h : ∀ x ∈ xs, f x = answer (asked x) (g x)) : xs.mapM f = answer (xs.flatMap asked) (xs.map g) := by
  induction xs with
  | nil => rfl
  | cons x xs ih =>
    rw [List.mapM_cons, List.flatMap_cons, List.map_cons]
    refine bind_answer (h x List.mem_cons_self) ?_
    have htail : xs.mapM f = answer (xs.flatMap asked) (xs.map g) := ih fun y hy => h y (List.mem_cons_of_mem x hy)
    have hrest : (xs.mapM f >>= fun ys => pure (g x :: ys)) = answer (xs.flatMap asked ++ []) (g x :: xs.map g) :=
      bind_answer htail rfl
    rwa [List.append_nil] at hrest

theorem answer_eq_ok {x' : α} : answer ds x = .ok x' ↔ (∀ d ∈ ds, d.met = true) ∧ x = x' := by
  unfold answer
  cases h : ds.find? (!·.met) with
  | none =>
    have hall : ∀ d ∈ ds, d.met = true := by simpa using h
    exact ⟨fun he => ⟨hall, Except.ok.inj he⟩, fun he => congrArg _ he.2⟩
  | some d =>
    have hd : d.met = false := by simpa using List.find?_some h
    refine ⟨nofun, fun he => ?_⟩
    rw [he.1 d (List.mem_of_find?_eq_some h)] at hd
    cases hd

/-- Asking stops at the first demand that is not met. -/
theorem answer_eq_error {p : Problem} : answer ds x = .error p ↔ ∃ d, FirstUnmet ds d ∧ d.problem = p := by
  have hfirst (d : Demand) : ds.find? (!·.met) = some d ↔ FirstUnmet ds d := by
    rw [List.find?_eq_some_iff_append]
    constructor
    · rintro ⟨hd, asked, rest, hds, hasked⟩
      exact ⟨asked, rest, hds, by simpa using hasked, by simpa using hd⟩
    · rintro ⟨asked, rest, hds, hasked, hd⟩
      exact ⟨by simpa using hd, asked, rest, hds, by simpa using hasked⟩
  simp only [← hfirst]
  unfold answer
  cases ds.find? (!·.met) with
  | none => exact ⟨nofun, fun ⟨_, hd, _⟩ => nomatch hd⟩
  | some d =>
    constructor
    · exact fun he => ⟨d, rfl, Except.error.inj he⟩
    · rintro ⟨d', hd, rfl⟩
      cases hd
      rfl

end

/-! ## Values -/

theorem objectOf_answer (what : String) (v : Json) : objectOf what v = answer [.object what v] v.fields := by
  cases v <;> rfl

theorem stageOf_answer (doc : Fields) (key : String) :
    stageOf doc key = answer [.object key (valueAt doc key)] (valueAt doc key).fields :=
  objectOf_answer key (valueAt doc key)

theorem integerOf_answer (e : Fields) (key : String) :
    integerOf e key = answer [.integerAt e key] (integerAt e key) := by
  unfold integerOf Demand.integerAt integerAt valueAt
  rcases e.lookup key with _ | v
  · rfl
  · cases v <;> rfl

theorem textOf_answer (e : Fields) (key : String) : textOf e key = answer [.textAt e key] (textAt e key) := by
  unfold textOf Demand.textAt textAt valueAt
  rcases e.lookup key with _ | v
  · rfl
  · cases v <;> rfl

/-- What is asked of a list: of itself, and of its items. -/
def listDemands (what : String) (e : Fields) (key : String) : List Demand :=
  .list what key (valueAt e key) :: (valueAt e key).items.map (.object s!"{what}.{key}[]")

theorem listOf_answer (e : Fields) (key what : String) :
    listOf e key what = answer (listDemands what e key) (entriesAt e key) := by
  unfold listOf listDemands entriesAt valueAt
  cases (e.lookup key).getD .null with
  | list items =>
    rw [answer_met rfl, List.map_eq_flatMap]
    exact mapM_answer fun v _ => objectOf_answer s!"{what}.{key}[]" v
  | _ => rfl

/-! ## Parts -/

def typeDemands (e : Fields) : List Demand := [.textAt e "type", .type (textAt e "type")]

theorem typeNamed_answer (name : String) :
    typeNamed (.text name) = answer [.type name] ((DataType.ofName? name).getD (.float, 1)) := by
  unfold typeNamed answer
  simp only [List.find?_cons, Demand.met]
  cases DataType.ofName? name <;> rfl

theorem typeOf_answer (e : Fields) : typeOf e = answer (typeDemands e) (kindAt e) :=
  bind_answer (textOf_answer e _) (typeNamed_answer _)

def inputDemands (e : Fields) : List Demand :=
  typeDemands e ++ [.textAt e "name", .integerAt e "location", .textAt e "semantic", .integerAt e "semantic_index"]

theorem inputOf_answer (e : Fields) : inputOf e = answer (inputDemands e) (inputAt e) :=
  bind_answer (typeOf_answer e) <| bind_answer (textOf_answer e _) <| bind_answer (integerOf_answer e _) <|
    bind_answer (textOf_answer e _) <| bind_answer (integerOf_answer e _) <| .refl _

def inputListDemands (stage : Fields) : List Demand :=
  listDemands "vs" stage "inputs" ++ (entriesAt stage "inputs").flatMap inputDemands

theorem inputsOf_answer (stage : Fields) :
    inputsOf stage = answer (inputListDemands stage) (byLocation ((entriesAt stage "inputs").map inputAt)) := by
  unfold inputsOf inputListDemands
  refine bind_answer (listOf_answer stage _ _) ?_
  rw [← List.append_nil (List.flatMap ..)]
  exact bind_answer (mapM_answer fun e _ => inputOf_answer e) rfl

def memberDemands (e : Fields) : List Demand := typeDemands e ++ [.textAt e "name", .integerAt e "offset"]

theorem memberOf_answer (id start : Int) (e : Fields) :
    memberOf id start e = answer (memberDemands e) (memberAt id start e) :=
  bind_answer (typeOf_answer e) <| bind_answer (textOf_answer e _) <| bind_answer (integerOf_answer e _) <| .refl _

/-- What is asked of a block; its size comes after its members. -/
def blockDemands (b : Fields) : List Demand :=
  .integerAt b "id" :: .textAt b "name" :: .integerAt b "binding" :: (listDemands "uniform_buffers[]" b "members" ++
    (entriesAt b "members").flatMap memberDemands ++ [.integerAt b "block_size"])

def textureDemands (e : Fields) : List Demand := [.textAt e "name", .integerAt e "binding"]

theorem textureOf_answer (e : Fields) : textureOf e = answer (textureDemands e) (textureAt e) :=
  bind_answer (textOf_answer e _) <| bind_answer (integerOf_answer e _) <| .refl _

/-! ## Blocks in a row -/

theorem sizeOfFirst_succ (k : Nat) (b : Fields) (blocks : List Fields) :
    sizeOfFirst (k + 1) (b :: blocks) = integerAt b "block_size" + sizeOfFirst k blocks := rfl

/-- The members of blocks that lie from `start` on. -/
def membersFrom (start : Int) (blocks : List Fields) : List UniformMember :=
  blocks.zipIdx.flatMap fun b => membersAt (start + sizeOfFirst b.2 blocks) b.1

theorem membersFrom_cons (start : Int) (b : Fields) (blocks : List Fields) :
    membersFrom start (b :: blocks) =
      membersAt start b ++ membersFrom (start + integerAt b "block_size") blocks := by
  unfold membersFrom
  rw [List.zipIdx_cons, List.zipIdx_succ, List.flatMap_cons, List.flatMap_map]
  have hfirst : start + sizeOfFirst 0 (b :: blocks) = start := Int.add_zero start
  simp only [hfirst, sizeOfFirst_succ, Int.add_assoc]

theorem layoutFrom_answer (start : Int) (blocks : List Fields) :
    layoutFrom start blocks = answer (blocks.flatMap blockDemands)
      ⟨blocks.map blockAt, membersFrom start blocks, start + sizeOfFirst blocks.length blocks⟩ := by
  induction blocks generalizing start with
  | nil =>
    have hsize : start + sizeOfFirst 0 [] = start := Int.add_zero start
    rw [List.length_nil, hsize]
    rfl
  | cons b blocks ih =>
    have hmembers : (entriesAt b "members").mapM (memberOf (integerAt b "id") start) =
        answer ((entriesAt b "members").flatMap memberDemands) (membersAt start b) :=
      mapM_answer fun e _ => memberOf_answer (integerAt b "id") start e
    have hsum : start + sizeOfFirst (b :: blocks).length (b :: blocks) =
        start + integerAt b "block_size" + sizeOfFirst blocks.length blocks := by
      rw [List.length_cons, sizeOfFirst_succ, Int.add_assoc]
    rw [membersFrom_cons, hsum, List.flatMap_cons, blockDemands, ← List.append_nil (List.flatMap blockDemands _)]
    unfold layoutFrom
    simp only [List.cons_append, List.append_assoc, List.nil_append]
    exact bind_answer (integerOf_answer b _) <| bind_answer (textOf_answer b _) <|
      bind_answer (integerOf_answer b _) <| bind_answer (listOf_answer b _ _) <| bind_answer hmembers <|
      bind_answer (integerOf_answer b _) <| bind_answer (ih (start + integerAt b "block_size")) rfl

/-! ## Documents -/

/-- What is asked of the list of the vertex stage, and if that is empty of the list of the fragment stage. -/
def choiceDemands (doc : Json) (key : String) : List Demand :=
  listDemands "vs" (stageAt doc "vs") key ++
    if (entriesAt (stageAt doc "vs") key).isEmpty then listDemands "fs" (stageAt doc "fs") key else []

theorem preferred_answer (doc : Json) (key : String) :
    preferred (stageAt doc "vs") (stageAt doc "fs") key = answer (choiceDemands doc key) (chosenAt doc key) := by
  unfold preferred choiceDemands chosenAt
  refine bind_answer (listOf_answer _ _ _) ?_
  cases entriesAt (stageAt doc "vs") key with
  | nil => exact listOf_answer _ _ _
  | cons e entries => rfl

/-- What is asked of a document: of it and its two stages, then of the inputs, the blocks and the textures. -/
def demands (doc : Json) : List Demand :=
  [.object "reflection document" doc, .object "vs" (valueAt doc.fields "vs"), .object "fs" (valueAt doc.fields "fs")] ++
    inputListDemands (stageAt doc "vs") ++
    choiceDemands doc "uniform_buffers" ++ (chosenAt doc "uniform_buffers").flatMap blockDemands ++
    choiceDemands doc "textures" ++ (chosenAt doc "textures").flatMap textureDemands

theorem layoutOf_answer (blocks : List Fields) :
    layoutFrom 0 blocks = answer (blocks.flatMap blockDemands) (layoutOf blocks) := by
  rw [layoutFrom_answer, layoutOf, membersFrom]
  simp only [Int.zero_add]

theorem ofDocument_eq (doc : Json) : ofDocument doc = answer (demands doc) (described doc) := by
  unfold ofDocument demands
  simp only [List.cons_append, List.append_assoc, List.nil_append]
  rw [← List.append_nil (List.flatMap textureDemands _)]
  exact bind_answer (objectOf_answer _ doc) <| bind_answer (stageOf_answer _ _) <| bind_answer (stageOf_answer _ _) <|
    bind_answer (inputsOf_answer _) <| bind_answer (preferred_answer doc _) <| bind_answer (layoutOf_answer _) <|
    bind_answer (preferred_answer doc _) <| bind_answer (mapM_answer fun e _ => textureOf_answer e) rfl

end ShaderBundle.Reflection
