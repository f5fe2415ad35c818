import ShaderBundle.Files.Fault
import ShaderBundle.Text.Encoding
import ShaderBundle.Text.Search

/-!
# File trees

Files and directories by location. `get?` is the view of a tree: two trees that agree on it hold the
same files. The order of the entries is the order in which a directory lists them.

Operations take a path as it was written and where it is read from. A path is walked name by name;
every name but the last has to be a directory. An operation that is refused changes nothing; what a fault of the disk
leaves behind is told where files are written and moved (`Action.save`, `Action.move`).

Left out are links, permissions but that to be executed, and faults of the disk in reading, listing and removing.
-/

namespace ShaderBundle

/-- The names from the root down. A byte of a name that is no text stands as a surrogate in it. -/
abbrev Location := List String

inductive Entry
  | file (content : Bytes) (executable : Bool)
  | directory
  deriving Repr, DecidableEq

structure Tree where
  entries : List (Location × Entry) := []
  deriving Repr

namespace Tree

/-! ## View and changes -/

/-- What is at a location; the root is always a directory. -/
def get? (t : Tree) (l : Location) : Option Entry :=
  if l = [] then some .directory else t.entries.lookup l

def putIn (l : Location) (e : Entry) : List (Location × Entry) → List (Location × Entry)
  | [] => [(l, e)]
  | (k, v) :: rest => if k = l then (l, e) :: rest else (k, v) :: putIn l e rest

/-- Puts an entry at a location, in the place of what is there. -/
def put (t : Tree) (l : Location) (e : Entry) : Tree := ⟨putIn l e t.entries⟩

/-- Takes away what is at a location, and nothing below it. -/
def erase (t : Tree) (l : Location) : Tree := ⟨t.entries.filter (·.1 ≠ l)⟩

/-- Takes away a location and all that is below it. -/
def eraseBelow (t : Tree) (l : Location) : Tree := ⟨t.entries.filter (!l.isPrefixOf ·.1)⟩

theorem lookup_putIn (l k : Location) (e : Entry) (es : List (Location × Entry)) :
    (putIn l e es).lookup k = if k = l then some e else es.lookup k := by
  induction es with
  | nil =>
    by_cases h : k = l
    · simp [putIn, h]
    · have : (k == l) = false := by simpa using h
      simp [putIn, List.lookup_cons, this, h]
  | cons x rest ih =>
    obtain ⟨a, v⟩ := x
    by_cases ha : a = l
    · subst ha
      by_cases h : k = a
      · simp [putIn, h]
      · have : (k == a) = false := by simpa using h
        simp [putIn, List.lookup_cons, this, h]
    · by_cases hk : k = a
      · subst hk; simp [putIn, ha]
      · have : (k == a) = false := by simpa using hk
        simp [putIn, ha, List.lookup_cons, this, ih]

theorem get?_put {t : Tree} {l : Location} (hl : l ≠ []) (e : Entry) (k : Location) :
    (t.put l e).get? k = if k = l then some e else t.get? k := by
  by_cases hk : k = []
  · subst hk; simp [get?, Ne.symm hl]
  · simp [get?, put, hk, lookup_putIn]

theorem lookup_filter_key (p : Location → Bool) (k : Location) (es : List (Location × Entry)) :
    (es.filter (p ·.1)).lookup k = if p k then es.lookup k else none := by
  induction es with
  | nil => simp
  | cons x rest ih =>
    obtain ⟨a, v⟩ := x
    by_cases hk : k = a
    · subst hk
      by_cases hp : p k <;> simp [hp, ih]
    · have : (k == a) = false := by simpa using hk
      by_cases hp : p a <;> simp [hp, List.lookup_cons, this, ih]

theorem get?_erase {t : Tree} {l : Location} (hl : l ≠ []) (k : Location) :
    (t.erase l).get? k = if k = l then none else t.get? k := by
  by_cases hk : k = []
  · subst hk; simp [get?, Ne.symm hl]
  · have := lookup_filter_key (fun x => decide (x ≠ l)) k t.entries
    simp only [decide_eq_true_eq] at this
    simp only [get?, erase, hk, if_false, this]
    by_cases h : k = l <;> simp [h]

theorem get?_eraseBelow {t : Tree} {l : Location} (hl : l ≠ []) (k : Location) :
    (t.eraseBelow l).get? k = if l.isPrefixOf k then none else t.get? k := by
  by_cases hk : k = []
  · subst hk
    cases l with
    | nil => exact absurd rfl hl
    | cons a r => simp [get?]
  · have := lookup_filter_key (fun x => !l.isPrefixOf x) k t.entries
    simp only [get?, eraseBelow, hk, if_false, this]
    by_cases h : l.isPrefixOf k = true <;> simp [h]

/-- The names of the entries directly below a location. -/
def children (t : Tree) (l : Location) : List String :=
  t.entries.filterMap fun (k, _) =>
    if k.length = l.length + 1 ∧ l.isPrefixOf k then k.getLast? else none

/-! ## Walking a path -/

/-- The directory at a location, or the reason why there is none. -/
def needDirectory (t : Tree) (l : Location) : Except Fault Unit :=
  match t.get? l with
  | none => .error .missing
  | some (.file ..) => .error .notDirectory
  | some .directory => .ok ()

/-- One step of a walk. -/
def step (t : Tree) (l : Location) (name : String) : Except Fault Location := do
  needDirectory t l
  return if name = "" ∨ name = "." then l else if name = ".." then l.dropLast else l ++ [name]

def walk (t : Tree) (l : Location) : List String → Except Fault Location
  | [] => .ok l
  | name :: rest => do walk t (← step t l name) rest

/-- The location that a written path stands for, read from `here`. -/
def locate (t : Tree) (here : Location) (path : String) : Except Fault Location :=
  match Text.splitOn '/' path with
  | [""] => .error .missing
  | "" :: rest => walk t [] rest
  | names => walk t here names

/-- What a written path leads to. -/
def find (t : Tree) (here : Location) (path : String) : Except Fault (Location × Entry) := do
  let l ← locate t here path
  match t.get? l with
  | none => .error .missing
  | some e => return (l, e)

/-! ## Questions -/

def entry? (t : Tree) (here : Location) (path : String) : Option Entry :=
  match find t here path with
  | .ok (_, e) => some e
  | .error _ => none

def isFile (t : Tree) (here : Location) (path : String) : Bool :=
  match t.entry? here path with
  | some (.file ..) => true
  | _ => false

def isDirectory (t : Tree) (here : Location) (path : String) : Bool :=
  match t.entry? here path with
  | some .directory => true
  | _ => false

def isExecutable (t : Tree) (here : Location) (path : String) : Bool :=
  match t.entry? here path with
  | some (.file _ executable) => executable
  | _ => false

/-! ## Operations -/

def refused {α : Type} (path : String) (r : Except Fault α) : Except FileError α :=
  r.mapError fun fault => ⟨fault, path⟩

def readFile (t : Tree) (here : Location) (path : String) : Except FileError Bytes :=
  refused path do
    match ← find t here path with
    | (_, .file content _) => return content
    | (_, .directory) => .error .isDirectory

/-- The text of a file, if it is one and holds text. -/
def textOfFile? (t : Tree) (here : Location) (path : String) : Option String :=
  match t.readFile here path with
  | .ok bytes => (Text.Utf8.decode bytes).toOption
  | .error _ => none

/-- Writes a file; one that is there keeps its being executable. -/
def writeFile (t : Tree) (here : Location) (path : String) (content : Bytes) :
    Except FileError Tree :=
  refused path do
    let l ← locate t here path
    match t.get? l with
    | some .directory => .error .isDirectory
    | some (.file _ executable) => return t.put l (.file content executable)
    | none => return t.put l (.file content false)

def removeFile (t : Tree) (here : Location) (path : String) : Except FileError Tree :=
  refused path do
    match ← find t here path with
    | (l, .file ..) => return t.erase l
    | (_, .directory) => .error .isDirectory

/-- The names in a directory. -/
def list (t : Tree) (here : Location) (path : String) : Except FileError (List String) :=
  refused path do
    match ← find t here path with
    | (l, .directory) => return t.children l
    | (_, .file ..) => .error .notDirectory

def makeDirectory (t : Tree) (here : Location) (path : String) : Except FileError Tree :=
  refused path do
    let l ← locate t here path
    match t.get? l with
    | some _ => .error .occupied
    | none => return t.put l .directory

/-- Takes away a file, or a directory with all that is in it. -/
def removeAll (t : Tree) (here : Location) (path : String) : Except FileError Tree :=
  refused path do
    let (l, _) ← find t here path
    return t.eraseBelow l

/-- Takes away a directory with all that is in it. -/
def removeDirectory (t : Tree) (here : Location) (path : String) : Except FileError Tree :=
  refused path do
    match ← find t here path with
    | (l, .directory) => return t.eraseBelow l
    | (_, .file ..) => .error .notDirectory

/-- Why a file is not moved. -/
inductive MoveFault
  /-- The directory it should go into holds that name. -/
  | taken (path : String)
  | refused (e : FileError)
  /-- Copying the file from one path to the other has been cut short. -/
  | cut (fault : Fault) (source place : String)

def MoveFault.message : MoveFault → String
  | .taken path => s!"Destination path '{path}' already exists"
  | .refused e => e.message
  | .cut fault source place => s!"{fault.message}: {Text.display source} -> {Text.display place}"

/-- The path of a name in a directory; no path at all stands for the current one. -/
def inside (directory name : String) : String :=
  if directory = "" then name
  else if directory.endsWith "/" then directory ++ name
  else directory ++ "/" ++ name

/-- Where a moved file ends up: in the target if that is a directory, or else in its place. -/
def destination (t : Tree) (here : Location) (name target : String) : String :=
  if t.isDirectory here target then inside target name else target

/-- Moves a file called `name` to a path, or into it when it is a directory. -/
def moveFile (t : Tree) (here : Location) (source name target : String) : Except MoveFault Tree :=
  let place := t.destination here name target
  if t.isDirectory here target ∧ (t.entry? here place).isSome then .error (.taken place)
  else
    match find t here source with
    | .error fault => .error (.refused ⟨fault, source⟩)
    | .ok (l, e) =>
      match locate t here place with
      | .error fault => .error (.refused ⟨fault, place⟩)
      | .ok k => .ok ((t.erase l).put k e)

end Tree

end ShaderBundle
