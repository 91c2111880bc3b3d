import RegionScript.Catalog.Document

/-!
Rows of script tables, exactly as stored.

A row is one step of a script: which command, after how many seconds, with two data words, a buddy,
flags, four text slots and a position. What the words mean depends on the command.
-/

namespace RegionScript

/-- The number of text slots. -/
abbrev textSlots : Nat := 4

/-- The texts of all slots, in order. -/
def slots (t1 t2 t3 t4 : Int32) : Vector Int32 textSlots := #v[t1, t2, t3, t4]

/-- A row of any script table. -/
structure Row where
  schemaVersion : UInt8
  id : UInt32
  delay : UInt32
  command : UInt32
  data : UInt32
  data2 : UInt32
  buddyEntry : UInt32
  searchRadius : UInt32
  flags : UInt32
  texts : Vector Int32 textSlots
  position : Position
  deriving DecidableEq

/-- An id bound to a script of a supplementary module, by the script's name. -/
structure NamedScript where
  id : UInt32
  scriptName : String
  deriving DecidableEq

namespace Row

/-- The schema version this library writes and reads. -/
def currentVersion : UInt8 := 1

/-- A row of a command without data. -/
def new (id delay command : UInt32) : Row :=
  { schemaVersion := currentVersion, id, delay, command, data := 0, data2 := 0, buddyEntry := 0,
    searchRadius := 0, flags := 0, texts := Vector.replicate _ 0, position := .origin }

def withData (r : Row) (data data2 : UInt32) : Row := { r with data, data2 }

def withBuddy (r : Row) (entry radius : UInt32) : Row :=
  { r with buddyEntry := entry, searchRadius := radius }

def withFlags (r : Row) (flags : UInt32) : Row := { r with flags }

def withTexts (r : Row) (texts : Vector Int32 textSlots) : Row := { r with texts }

def withPosition (r : Row) (position : Position) : Row := { r with position }

open Document Document.Json in
/-- Only the id and the command of a row have to be written. -/
def ofJson? (v : Json) : Option Row := do
  let [version, id, delay, command, data, data2, buddy, radius, flags, t1, t2, t3, t4, x, y, z, o] ←
    v.columns? ["schema_version", "id", "delay", "command", "datalong", "datalong2", "buddy_entry",
      "search_radius", "data_flags", "dataint", "dataint2", "dataint3", "dataint4", "x", "y", "z",
      "o"] | none
  let text := optional 0 toInt32?
  let coordinate := optional .zero toSingle?
  some {
    schemaVersion := ← optional currentVersion toUInt8? version
    id := ← required toUInt32? id
    delay := ← optional 0 toUInt32? delay
    command := ← required toUInt32? command
    data := ← optional 0 toUInt32? data
    data2 := ← optional 0 toUInt32? data2
    buddyEntry := ← optional 0 toUInt32? buddy
    searchRadius := ← optional 0 toUInt32? radius
    flags := ← optional 0 toUInt32? flags
    texts := slots (← text t1) (← text t2) (← text t3) (← text t4)
    position := ⟨← coordinate x, ← coordinate y, ← coordinate z, ← coordinate o⟩ }

end Row

open Document Document.Json in
def NamedScript.ofJson? (v : Json) : Option NamedScript := do
  let [id, name] ← v.columns? ["id", "script_name"] | none
  some ⟨← required toUInt32? id, ← required toText? name⟩

end RegionScript
