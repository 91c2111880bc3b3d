import RegionScript.Load.Bindings
import RegionScript.Load.Texts

/-!
The registry: all script tables and bindings that are in force at one time.

A registry is a value. Building makes a new one from a source, reloading puts one family's table in
place of the old one and leaves everything else, and whoever holds an earlier registry keeps it as
it was.
-/

namespace RegionScript

structure RegistryOptions where
  loader : LoaderOptions := {}
  /-- Tables to read instead of the usual ones, by family. -/
  tableNames : OrderedMap TableKind String := ∅
  deriving DecidableEq

/-- The table that a family is read from. -/
def RegistryOptions.tableName (o : RegistryOptions) (kind : TableKind) : String :=
  (o.tableNames.get? kind).getD kind.tableName

/-- What a build found. -/
structure RegistryReport where
  tables : List LoadReport := []
  texts : TextReport := {}
  deriving DecidableEq

namespace RegistryReport

def rejectedRows (r : RegistryReport) : Nat := (r.tables.flatMap (·.rejected)).length

def loadedRows (r : RegistryReport) : Nat := (r.tables.map (·.loaded)).foldl (· + ·) 0

/-- The quests to be corrected, over all tables. -/
def corrections (r : RegistryReport) : OrderedSet UInt32 :=
  .ofList (r.tables.flatMap (·.corrections.toList))

end RegistryReport

/-- All loaded tables and bindings, with the names that the bindings' numbers stand for. -/
structure Registry where
  tables : OrderedMap TableKind ScriptTable := ∅
  areaTriggerScripts : OrderedMap UInt32 UInt32 := ∅
  eventScripts : OrderedMap UInt32 UInt32 := ∅
  names : ScriptNames := .blank
  deriving DecidableEq

namespace Registry

def table? (r : Registry) (kind : TableKind) : Option ScriptTable := r.tables.get? kind

/-- The script of a family with an id. -/
def script? (r : Registry) (kind : TableKind) (id : UInt32) : Option Script :=
  (r.table? kind).bind (·.get? id)

/-- The number of the script bound to an area trigger; zero when there is none. -/
def areaTriggerScript (r : Registry) (trigger : UInt32) : UInt32 :=
  (r.areaTriggerScripts.get? trigger).getD 0

/-- The number of the script bound to an event; zero when there is none. -/
def eventScript (r : Registry) (event : UInt32) : UInt32 := (r.eventScripts.get? event).getD 0

/-- The registry with a table in place of that of its family. -/
def withTable (r : Registry) (t : ScriptTable) : Registry :=
  { r with tables := r.tables.insert t.kind t }

/-- Loads the tables of a list of families. -/
def loadTables (l : Loader) (source : RowSource) (options : RegistryOptions) :
    List TableKind → Logged (List (ScriptTable × LoadReport))
  | [] => return []
  | kind :: rest => do
    let loaded ← l.loadTable source kind (options.tableName kind)
    return loaded :: (← loadTables l source options rest)

/-- All names that scripts are bound by, wherever they come from. -/
def allNames (catalog : Catalog) (names : List String) (triggers events : List NamedScript) :
    ScriptNames :=
  .ofList (catalog.ownedScriptNames ++ names ++ triggers.map (·.scriptName)
    ++ events.map (·.scriptName))

/-- Loads every family, cross-checks the texts and numbers the bindings. -/
def build (source : RowSource) (catalog : Catalog) (options : RegistryOptions) :
    Logged (Registry × RegistryReport) := do
  let l : Loader := ⟨catalog, options.loader⟩
  let loaded ← loadTables l source options TableKind.all
  let tables : OrderedMap TableKind ScriptTable := .ofList (loaded.map fun (t, _) => (t.kind, t))
  let texts := l.textReport tables.values
  Logged.write (Loader.textLog texts)
  let triggers ← Logged.read source.areaTriggers
  let events ← Logged.read source.eventIds
  let names := allNames catalog (← Logged.read source.names) triggers events
  Logged.write [⟨.info, loadTarget, s!">> Loaded {names.count} script names"⟩]
  Logged.write (l.areaTriggerLog triggers ++ l.eventLog events)
  return (
    { tables, areaTriggerScripts := l.areaTriggerScripts names triggers,
      eventScripts := Loader.eventScripts names events, names },
    { tables := loaded.map (·.2), texts })

/-- Reads the table of one family anew. -/
def reread (source : RowSource) (catalog : Catalog) (options : RegistryOptions) (kind : TableKind) :
    Logged (ScriptTable × LoadReport) :=
  Loader.loadTable ⟨catalog, options.loader⟩ source kind (options.tableName kind)

/-- Reads the table of one family anew and puts it into the registry. -/
def reload (r : Registry) (source : RowSource) (catalog : Catalog) (options : RegistryOptions)
    (kind : TableKind) : Logged (Registry × LoadReport) := do
  let (table, report) ← reread source catalog options kind
  return (r.withTable table, report)

end Registry

end RegionScript
