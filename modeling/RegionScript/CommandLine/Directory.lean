import RegionScript.CommandLine.Disk
import RegionScript.CommandLine.FilePath

/-!
A disk in memory.

Every entry stands at its location, the list of names that leads there from the working folder.
Following a path goes from folder to folder, so that each name but the last has to be that of a
folder that is there. What is in the working folder are the entries whose location begins with a
plain name.
-/

namespace RegionScript

/-- Where a file or folder is: the names on the way. What is not below the working folder begins
with the name of the root or with two dots. -/
abbrev Location := List String

namespace Location

def rootName : String := "/"

/-- One name on from a folder. -/
def go (l : Location) (name : String) : Location :=
  if name = "." then l
  else if name = ".." then
    match l.getLast? with
    | none => [".."]
    | some last =>
      if last = ".." then l ++ [".."] else if last = rootName then l else l.dropLast
  else l ++ [name]

/-- Whether a location is that of the working folder or of a folder around it. -/
def isAround (l : Location) : Bool := l.all fun name => name = ".." || name = rootName

end Location

/-- What stands at a location. -/
inductive Entry where
  | file (contents : String)
  /-- A file that is no text. -/
  | data
  /-- A file that takes everything and keeps nothing. -/
  | sink
  | folder

/-- A disk in memory: what stands where, and the stores by their folders. -/
structure Directory where
  entries : OrderedMap Location Entry := ∅
  stores : OrderedMap Location (Store Blocks) := ∅

/-- The end of a path. -/
structure Place where
  location : Location
  entry : Option Entry
  /-- Whether the path is only for a folder. -/
  closed : Bool

namespace Directory

def entry? (d : Directory) (l : Location) : Option Entry :=
  if l.isAround then some .folder else d.entries.get? l

def put (d : Directory) (l : Location) (e : Entry) : Directory :=
  { d with entries := d.entries.insert l e }

/-! ### Following paths -/

/-- Longest name in a folder, and longest path, in bytes. -/
def nameLimit : Nat := 255

def pathLimit : Nat := 4095

/-- What a folder holds under a name. -/
def lookUp (d : Directory) (folder : Location) (name : String) :
    Except DiskError (Location × Option Entry) :=
  if nameLimit < name.utf8ByteSize then .error .nameTooLong
  else .ok (folder.go name, d.entry? (folder.go name))

/-- Goes from a folder into one that it holds. -/
def enter (d : Directory) (folder : Location) (name : String) : Except DiskError Location := do
  match ← d.lookUp folder name with
  | (l, some .folder) => .ok l
  | (_, some _) => .error .notFolder
  | (_, none) => .error .notFound

/-- Follows a path to its end. -/
def follow (d : Directory) (p : FilePath) : Except DiskError Place :=
  let start : Location := if p.absolute then [Location.rootName] else []
  match p.names.getLast? with
  | none => if p.absolute then .ok ⟨start, some .folder, true⟩ else .error .notFound
  | some last => do
    let folder ← p.names.dropLast.foldlM d.enter start
    let (location, entry) ← d.lookUp folder last
    .ok ⟨location, entry, p.closed⟩

/-- Follows a path that is given as a text. -/
def find (d : Directory) (path : String) : Except DiskError Place :=
  if path.contains '\x00' then .error .unusablePath
  else if pathLimit < path.utf8ByteSize then .error .nameTooLong
  else d.follow (.ofText path)

/-! ### Files -/

def readText (d : Directory) (path : String) : Except DiskError String := do
  let p ← d.find path
  match p.entry with
  | none => .error .notFound
  | some .folder => .error .isFolder
  | some e =>
    if p.closed then .error .notFolder
    else
      match e with
      | .file contents => .ok contents
      | .sink => .ok ""
      | .data | .folder => .error .notText

/-- Changes the contents of a file, which are empty where there is none yet. -/
def changeText (d : Directory) (path : String) (change : String → String) :
    Except DiskError Directory := do
  let p ← d.find path
  match p.entry, p.closed with
  | some .folder, _ | _, true => .error .isFolder
  | some .sink, false => .ok d
  | some (.file contents), false => .ok (d.put p.location (.file (change contents)))
  | some .data, false => .ok d
  | none, false => .ok (d.put p.location (.file (change "")))

def writeText (d : Directory) (path contents : String) : Except DiskError Directory :=
  d.changeText path fun _ => contents

/-- Adds lines to a file that is there or can be made. -/
def appendLines (d : Directory) (path : String) (lines : List String) :
    Except DiskError Directory :=
  d.changeText path fun contents => contents ++ String.join (lines.map (· ++ "\n"))

/-! ### Folders -/

def isFolder (d : Directory) (p : FilePath) : Bool :=
  match d.follow p with
  | .ok ⟨_, some .folder, _⟩ => true
  | _ => false

/-- Makes a folder, unless there is one, in a folder that is there. -/
def makeOne (d : Directory) (p : FilePath) : Except DiskError Directory :=
  if d.isFolder p then .ok d
  else do
    match ← d.follow p with
    | ⟨l, none, _⟩ => .ok (d.put l .folder)
    | _ => .error .occupied

/-- Makes a folder, and before it those that it is in as far as they are missing. A path has at
most `limit` names. What has been made stays, also when the rest cannot be made. -/
def makeAll (d : Directory) (p : FilePath) (limit : Nat) : Except DiskError Unit × Directory :=
  if p.isEmpty then (.ok (), d)
  else
    match d.makeOne p, limit, p.parent? with
    | .ok d, _, _ => (.ok (), d)
    | .error .notFound, limit + 1, some parent =>
      match d.makeAll parent limit with
      | (.error e, d) => (.error e, d)
      | (.ok (), d) =>
        match d.makeOne p with
        | .ok d => (.ok (), d)
        | .error e => (.error e, d)
    | .error e, _, _ => (.error e, d)

def makeFolder (d : Directory) (path : String) : Except DiskError Unit × Directory :=
  if path.contains '\x00' then (.error .unusablePath, d)
  else if pathLimit < path.utf8ByteSize then (.error .nameTooLong, d)
  else
    let p := FilePath.ofText path
    d.makeAll p p.names.length

/-! ### Stores -/

/-- What a store puts into its folder. -/
def storeParts : List (String × Entry) := [("blobs", .folder), ("conf", .data), ("db", .data)]

/-- The folder at the end of a path; the empty path is that of the working folder. -/
def folderAt (d : Directory) (path : String) : Location :=
  match d.find path with
  | .ok p => p.location
  | .error _ => []

/-- Opens the store in a folder that is there; where there is none yet, an empty one is made. -/
def storeAt (d : Directory) (folder : Location) : Store Blocks × Directory :=
  let d := storeParts.foldl (fun d part => d.put (folder ++ [part.1]) part.2) d
  match d.stores.get? folder with
  | some s => (s.reopen, d)
  | none => (∅, { d with stores := d.stores.insert folder ∅ })

def openStore (d : Directory) (path : String) : Except DiskError (Store Blocks) × Directory :=
  match d.makeFolder path with
  | (.error e, d) => (.error e, d)
  | (.ok (), d) =>
    let (s, d) := d.storeAt (d.folderAt path)
    (.ok s, d)

def saveStore (d : Directory) (path : String) (s : Store Blocks) : Directory :=
  { d with stores := d.stores.insert (d.folderAt path) s }

/-! ### Working folders -/

/-- The names in the working folder, ascending. -/
def names (d : Directory) : List String :=
  let outside := ["..", Location.rootName]
  (OrderedSet.ofList ((d.entries.keys.filterMap List.head?).filter (!outside.contains ·))).toList

/-- A disk with nothing in its working folder. -/
def bare : Directory where
  entries := .ofList [
    ([Location.rootName, "dev"], .folder),
    ([Location.rootName, "dev", "null"], .sink),
    ([Location.rootName, "dev", "stdin"], .sink),
    ([Location.rootName, "tmp"], .folder)]

/-- Puts a file at a path, and folders on the way to it. -/
def addFile (d : Directory) (file : String × String) : Directory :=
  let l := (FilePath.ofText file.1).names.foldl Location.go []
  let stages := (List.range l.length).map l.take
  (stages.foldl (fun d l => d.put l .folder) d).put l (.file file.2)

/-- A disk whose working folder holds the given files. -/
def ofFiles (files : List (String × String)) : Directory := files.foldl addFile bare

/-! ### The disk -/

/-- Keeps the directory if there is a new one. -/
def keeping (change : Directory → Except DiskError Directory) :
    StateM Directory (Except DiskError Unit) := do
  match change (← get) with
  | .ok d => set d; return .ok ()
  | .error e => return .error e

/-- The disk whose files are those of a directory. -/
def disk : Disk (StateM Directory) where
  readText path := do return (← get).readText path
  writeText path contents := keeping (·.writeText path contents)
  prepareLog path := do return (← keeping (·.appendLines path [])).toBool
  appendLines path lines := do discard (keeping (·.appendLines path lines))
  makeFolder path := modifyGet (·.makeFolder path)
  openStore path := modifyGet (·.openStore path)
  saveStore path s := modify (·.saveStore path s)

end Directory

end RegionScript
