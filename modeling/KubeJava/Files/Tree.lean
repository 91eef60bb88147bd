import KubeJava.Files.Disk

set_option autoImplicit false

/-! # File trees

A disk held in memory: directories, files and symbolic links, with the path resolution of POSIX. A
name is at most 255 bytes long, a path less than 4096, and at most 40 links are followed. Whatever is
put into a tree lies in a directory, so no entry is ever cut off from the root. -/

namespace KubeJava

/-- The place of an entry: the names from the root to it. -/
abbrev Place := List Text

inductive Entry where
  | directory
  | file (content : ByteArray)
  | link (target : Text)

instance : (e : Entry) → Decidable (e = .directory)
  | .directory => isTrue rfl
  | .file _ => isFalse Entry.noConfusion
  | .link _ => isFalse Entry.noConfusion

instance : (e : Option Entry) → Decidable (e = some .directory)
  | none => isFalse (Option.some_ne_none _).symm
  | some e => decidable_of_iff (e = .directory) Option.some_inj.symm

/-- Entries with their places. -/
abbrev Entries := List (Place × Entry)

namespace Entries

/-- The entry at a place, where the root is a directory. -/
def get? (es : Entries) (place : Place) : Option Entry :=
  if place = [] then some .directory else es.lookup place

/-- The entries with one at the place, whatever was there before. -/
def put (es : Entries) (place : Place) (e : Entry) : Entries :=
  (place, e) :: es.filter fun x => x.1 ≠ place

variable {es : Entries} {place other : Place} {e : Entry}

@[simp] theorem get?_put_self (h : place ≠ []) : (es.put place e).get? place = some e := by
  rw [get?, if_neg h, put]
  simp

theorem lookup_filter_ne (h : other ≠ place) :
    (es.filter fun x => x.1 ≠ place).lookup other = es.lookup other := by
  induction es with
  | nil => rfl
  | cons x rest ih =>
    obtain ⟨key, a⟩ := x
    by_cases hkey : key = place
    · have hother : (other == key) = false := by
        rw [hkey]
        exact beq_eq_false_iff_ne.2 h
      rw [List.filter_cons_of_neg (by simpa using hkey), ih, List.lookup_cons, hother]
    · rw [List.filter_cons_of_pos (by simpa using hkey), List.lookup_cons, List.lookup_cons, ih]

@[simp] theorem get?_put_of_ne (h : other ≠ place) :
    (es.put place e).get? other = es.get? other := by
  rw [get?, get?, put]
  by_cases hnil : other = []
  · rw [if_pos hnil, if_pos hnil]
  · have hne : (other == place) = false := beq_eq_false_iff_ne.2 h
    rw [if_neg hnil, if_neg hnil, List.lookup_cons, hne]
    exact lookup_filter_ne h

/-- Directories stay if nothing but a directory replaces one. -/
theorem get?_put_directory (h : es.get? place = some .directory → e = .directory)
    (hother : es.get? other = some .directory) : (es.put place e).get? other = some .directory := by
  by_cases hplace : other = place
  · subst hplace
    by_cases hnil : other = []
    · rw [get?, if_pos hnil]
    · rw [get?_put_self hnil, h hother]
  · rw [get?_put_of_ne hplace, hother]

theorem nodup_put (h : (es.map Prod.fst).Nodup) : ((es.put place e).map Prod.fst).Nodup := by
  rw [put, List.map_cons, List.nodup_cons]
  refine ⟨?_, h.sublist (List.filter_sublist.map _)⟩
  intro hmem
  obtain ⟨x, hx, hplace⟩ := List.mem_map.1 hmem
  simp [hplace] at hx

end Entries

/-! ## Trees -/

/-- Entries that each lie in a directory, and one of the directories to work in. -/
structure FileTree where
  /-- The entries below the root. -/
  entries : Entries := []
  /-- The directory that relative paths start from. -/
  workDirectory : Place := []
  distinct : (entries.map Prod.fst).Nodup := by decide +kernel
  within : ∀ x ∈ entries, x.1 ≠ [] ∧ entries.get? x.1.dropLast = some .directory := by
    decide +kernel
  working : entries.get? workDirectory = some .directory := by decide +kernel

namespace FileTree

/-- A tree with nothing but an empty working directory. -/
def fresh : FileTree := { entries := [(["work"], .directory)], workDirectory := ["work"] }

def get? (t : FileTree) (place : Place) : Option Entry := t.entries.get? place

/-- The entry can be put at the place: in a directory, and not instead of one unless it is one
itself. -/
structure Admits (t : FileTree) (place : Place) (e : Entry) : Prop where
  below : place ≠ []
  around : t.get? place.dropLast = some .directory
  kept : t.get? place = some .directory → e = .directory

instance (t : FileTree) (place : Place) (e : Entry) : Decidable (t.Admits place e) :=
  decidable_of_iff (place ≠ [] ∧ t.get? place.dropLast = some .directory ∧
      (t.get? place = some .directory → e = .directory))
    ⟨fun ⟨hbelow, haround, hkept⟩ => ⟨hbelow, haround, hkept⟩,
      fun ⟨hbelow, haround, hkept⟩ => ⟨hbelow, haround, hkept⟩⟩

/-- The tree with an entry at a place, whatever was there before. A tree that does not admit the
entry stays as it is. -/
def put (t : FileTree) (place : Place) (e : Entry) : FileTree :=
  if h : t.Admits place e then
    { t with
      entries := t.entries.put place e
      distinct := Entries.nodup_put t.distinct
      within := by
        intro x hx
        rcases List.mem_cons.1 hx with rfl | hold
        · exact ⟨h.below, Entries.get?_put_directory h.kept h.around⟩
        · obtain ⟨hbelow, haround⟩ := t.within x (List.mem_filter.1 hold).1
          exact ⟨hbelow, Entries.get?_put_directory h.kept haround⟩
      working := Entries.get?_put_directory h.kept t.working }
  else t

/-! ## Resolution -/

def maxNameBytes : Nat := 255

def maxPathBytes : Nat := 4095

def maxLinks : Nat := 40

/-- Where a path leads: to an entry, or to a free name in a directory. -/
inductive Target where
  | found (place : Place) (e : Entry)
  | absent (place : Place)

/-- The name that leads back to the directory around. -/
def parentName : Text := ".."

/-- The names that a link's text adds to a path, from the directory it starts in. -/
def linkStart (directory : Place) (target : Text) : Place × List Text :=
  let p := Path.ofText target
  (if p.isAbsolute then [] else directory, p.components)

/-- Walks from a directory along names, handing links to `follow` with the names that are left. The
last name is followed as well if `last` says so. -/
def walkWith (t : FileTree) (last : Bool) (follow : Place → List Text → Except DiskFault Target) :
    Place → List Text → Except DiskFault Target
  | directory, [] => .ok (.found directory .directory)
  | directory, name :: rest =>
    if name = parentName then t.walkWith last follow directory.dropLast rest
    else if maxNameBytes < Path.byteSize name then .error .nameTooLong
    else
      let place := directory ++ [name]
      match t.get? place with
      | none => if rest.isEmpty then .ok (.absent place) else .error .noEntry
      | some .directory => t.walkWith last follow place rest
      | some (.file content) =>
        if rest.isEmpty then .ok (.found place (.file content)) else .error .notDirectory
      | some (.link target) =>
        if rest.isEmpty && !last then .ok (.found place (.link target))
        else
          let (start, names) := linkStart directory target
          follow start (names ++ rest)

/-- Walks along names, following at most the given number of links. -/
def walk (t : FileTree) (last : Bool) : (links : Nat) → Place → List Text → Except DiskFault Target
  | 0 => t.walkWith last fun _ _ => .error .tooManyLinks
  | links + 1 => t.walkWith last (t.walk last links)

def resolve (t : FileTree) (last : Bool) (p : Path) : Except DiskFault Target :=
  if !Path.hasBytes p.text then .error .noEncoding
  else if p.text.contains '\x00' then .error .zeroCharacter
  else if maxPathBytes < Path.byteSize p.text then .error .nameTooLong
  else t.walk last maxLinks (if p.isAbsolute then [] else t.workDirectory) p.components

/-! ## Operations -/

def kindOf (t : FileTree) (p : Path) : Except DiskFault EntryKind := do
  match ← t.resolve true p with
  | .found _ .directory => return .directory
  | .found _ _ => return .file
  | .absent _ => throw .noEntry

def makeDirectory (t : FileTree) (p : Path) : Except DiskFault FileTree := do
  match ← t.resolve false p with
  | .found .. => throw .entryExists
  | .absent place => return t.put place .directory

def writeFile (t : FileTree) (p : Path) (content : String) : Except DiskFault FileTree := do
  match ← t.resolve true p with
  | .found _ .directory => throw .isDirectory
  | .found place _ | .absent place => return t.put place (.file content.toUTF8)

def readFile (t : FileTree) (p : Path) : Except DiskFault ByteArray := do
  match ← t.resolve true p with
  | .found _ (.file content) => return content
  | .found .. => throw .isDirectory
  | .absent _ => throw .noEntry

/-- A change of the tree as a step that leaves it alone if it fails. -/
def step (change : FileTree → Except DiskFault FileTree) :
    StateM FileTree (Except DiskFault Unit) := fun t =>
  match change t with
  | .ok t' => (.ok (), t')
  | .error fault => (.error fault, t)

instance : Disk (StateM FileTree) where
  kindOf p := fun t => (t.kindOf p, t)
  makeDirectory p := step fun t => t.makeDirectory p
  writeFile p content := step fun t => t.writeFile p content
  readFile p := fun t => (t.readFile p, t)

/-! ## Listing -/

/-- The places below the working directory, relative to it. -/
def places (t : FileTree) : List (Place × Entry) :=
  t.entries.filterMap fun (place, e) =>
    if t.workDirectory.isPrefixOf place && place ≠ t.workDirectory then
      some (place.drop t.workDirectory.length, e)
    else none

/-- The entry that a place leads to, through links. -/
def entryBehind (t : FileTree) (place : Place) : Option Entry :=
  match t.resolve true { components := place } with
  | .ok (.found _ e) => some e
  | _ => none

/-- Whether a place leads to a directory. -/
def isDirectory (t : FileTree) (place : Place) : Bool :=
  match t.entryBehind place with
  | some .directory => true
  | _ => false

/-- A place below the working directory as text. -/
def placeText (place : Place) : Text := [Path.separator].intercalate place

/-- Every entry below the working directory, directories and links to them marked by a slash. -/
def listing (t : FileTree) : List Text :=
  (t.places.map fun (place, _) =>
    if t.isDirectory place then placeText place ++ "/" else placeText place).mergeSort Text.le

/-- The paths of all files below the working directory with their contents. -/
def files (t : FileTree) : List (Text × ByteArray) :=
  t.places.filterMap fun (place, _) =>
    match t.entryBehind place with
    | some (.file content) => some (placeText place, content)
    | _ => none

end FileTree

end KubeJava
