import RegionScript.Document.Decode
import RegionScript.Document.Toml
import RegionScript.Registry

/-!
Settings: where the store is, what is logged, which tables scripts are read from and how strictly
they are checked, and which module to bind.
-/

namespace RegionScript

structure StorageSettings where
  dataFolder : String
  /-- The folder of the store, unless it is in the data folder. -/
  storePath : Option String := none
  deriving DecidableEq

structure LoggingSettings where
  level : String
  file : Option String
  deriving DecidableEq

structure ScriptSettings where
  strict : Bool := true
  minText : Int32 := minTextId
  maxText : Int32 := maxTextId
  catalogPath : Option String := none
  /-- Tables to read, by the usual table name of their family. -/
  tables : OrderedMap String String := ∅
  deriving DecidableEq

structure ModuleSettings where
  library : Option String := none
  revision : String := ""
  deriving DecidableEq

structure Settings where
  storage : StorageSettings
  logging : LoggingSettings
  scripts : ScriptSettings := {}
  modules : ModuleSettings := {}
  deriving DecidableEq

/-- A name inside a folder. -/
def joinPath (folder name : String) : String :=
  if folder = "" ∨ folder.toList.getLast? = some '/' then folder ++ name else folder ++ "/" ++ name

/-- The folder of the store. -/
def StorageSettings.store (s : StorageSettings) : String :=
  s.storePath.getD (joinPath s.dataFolder "scripts.db")

/-- Why settings make no options for loading scripts. -/
inductive OptionsError where
  | emptyTextRange (min max : Int32)
  | unknownFamily (name : String)
  deriving DecidableEq

/-- The reason in words. -/
def OptionsError.message : OptionsError → String
  | emptyTextRange min max =>
    s!"scripts.min_text_id ({min}) must be below scripts.max_text_id ({max})"
  | unknownFamily name => s!"Unknown script table family in [scripts.tables]: {name}"

namespace ScriptSettings

/-- The family and the table of an entry of the table settings. -/
def override (entry : String × String) : Except OptionsError (TableKind × String) :=
  match TableKind.ofTableName? entry.1 with
  | some kind => .ok (kind, entry.2)
  | none => .error (.unknownFamily entry.1)

/-- The options that the settings ask for. -/
def options (s : ScriptSettings) : Except OptionsError RegistryOptions :=
  if s.maxText ≤ s.minText then .error (.emptyTextRange s.minText s.maxText)
  else
    (s.tables.entries.mapM override).map fun names =>
      { loader := { strict := s.strict, minText := s.minText, maxText := s.maxText },
        tableNames := .ofList names }

open Document Document.Json in
/-- Every script setting may be left out. -/
def ofJson? (v : Json) : Option ScriptSettings := do
  let [strict, min, max, catalog, tables] ←
    v.columns? ["strict_checks", "min_text_id", "max_text_id", "catalog_path", "tables"] | none
  some {
    strict := ← optional true toBool? strict
    minText := ← optional minTextId toInt32? min
    maxText := ← optional maxTextId toInt32? max
    catalogPath := ← optional none (toOption? toText?) catalog
    tables := ← optional ∅ (toMap? Key.text toText?) tables }

end ScriptSettings

namespace Settings

/-- The settings of a new installation. -/
def initial : Settings where
  storage := { dataFolder := "./data" }
  logging := { level := "info", file := some "dbscripts.log" }
  scripts := { catalogPath := some "./data/catalog.json" }

/-- The settings file of a new installation. -/
def initialFile : String :=
  "\n".intercalate [
    "[storage]",
    "data_dir = \"./data\"",
    "",
    "[logging]",
    "level = \"info\"",
    "file = \"dbscripts.log\"",
    "",
    "[scripts]",
    "strict_checks = true",
    "min_text_id = 2000000000",
    "max_text_id = 2000010000",
    "catalog_path = \"./data/catalog.json\"",
    "",
    "[scripts.tables]",
    "",
    "[modules]",
    "revision = \"\"",
    ""]

open Document.Toml

/-! ### Reading -/

def textOf? : Value → Option String
  | .text s => some s
  | _ => none

def boolOf? : Value → Option Bool
  | .boolean b => some b
  | _ => none

def int32Of? : Value → Option Int32
  | .integer n => if -0x80000000 ≤ n ∧ n < 0x80000000 then some (Int32.ofInt n) else none
  | _ => none

/-- A setting that has to be there. -/
def required {α : Type} (f : File) (value : Value → Option α) (path : Path) : Option α :=
  (f.value? path).bind value

/-- A setting that may be left out. -/
def optional {α : Type} (f : File) (default : α) (value : Value → Option α) (path : Path) :
    Option α :=
  match f.value? path with
  | some v => value v
  | none => if f.isAbsent path then some default else none

/-- A table of settings that may be left out but is no value. -/
def tableAt? (f : File) (path : Path) : Option Unit :=
  if (f.value? path).isNone then some () else none

/-- The table names of the settings. -/
def tables? (f : File) : Option (OrderedMap String String) := do
  let path := ["scripts", "tables"]
  tableAt? f path
  if f.tables.any fun t => path.isPrefixOf t && t ≠ path then none
  else
    let entries ← (f.valuesIn path).mapM fun (name, v) => (textOf? v).map fun s => (name, s)
    some (.ofList entries)

/-- The settings of a file. -/
def ofFile? (f : File) : Option Settings := do
  tableAt? f ["scripts"]
  tableAt? f ["modules"]
  some {
    storage := {
      dataFolder := ← required f textOf? ["storage", "data_dir"]
      storePath := ← optional f none (fun v => (textOf? v).map some) ["storage", "db_path"] }
    logging := {
      level := ← required f textOf? ["logging", "level"]
      file := ← optional f none (fun v => (textOf? v).map some) ["logging", "file"] }
    scripts := {
      strict := ← optional f true boolOf? ["scripts", "strict_checks"]
      minText := ← optional f minTextId int32Of? ["scripts", "min_text_id"]
      maxText := ← optional f maxTextId int32Of? ["scripts", "max_text_id"]
      catalogPath := ←
        optional f none (fun v => (textOf? v).map some) ["scripts", "catalog_path"]
      tables := ← tables? f }
    modules := {
      library := ← optional f none (fun v => (textOf? v).map some) ["modules", "library"]
      revision := ← optional f "" textOf? ["modules", "revision"] } }

/-- Reads the text of a settings file. -/
def read? (contents : String) : Option Settings := (Document.Toml.read? contents).bind ofFile?

end Settings

end RegionScript
